import WorkOrchestration.Native.ActionReceipts

/-!
# Pairing of calls and outputs

Every call has one receipt, an output is reported or belongs to a call, and only a call with one
output is paired.  Call ids that are spelled like the placeholders of missing ids are left aside.
-/

namespace WorkOrchestration.Native.ActionReceipts

open List Lib.Text Artifacts ToolCalls

/-! ## Calls and outputs of a log -/

def callItems (records : List Json) : List Entry :=
  (entries records).filter fun entry => isToolCallItem entry.item

def outputItems (records : List Json) : List Entry :=
  (entries records).filter fun entry => isToolOutputItem entry.item

theorem isOutput_of_call {item : Json} (call : isToolCallItem item = true) :
    isOutput item = false := by
  obtain ⟨⟨_, ending⟩, _⟩ : (_ ∧ _) ∧ _ := by
    simpa only [isToolCallItem, Bool.and_eq_true] using call
  exact Bool.not_inj ending

theorem endsWith_trans {text longer shorter : String} (ends : endsWith text longer = true)
    (inner : endsWith longer shorter = true) : endsWith text shorter = true := by
  unfold endsWith at ends inner ⊢
  rw [isSuffixOf_iff_suffix] at ends inner ⊢
  exact inner.trans ends

theorem isOutput_of_output {item : Json} (output : isToolOutputItem item = true) :
    isOutput item = true := by
  unfold isToolOutputItem at output
  rw [Bool.or_eq_true, Bool.or_eq_true] at output
  rcases output with (standard | ending) | ending
  · have each : ∀ kind ∈ ["function_call_output", "custom_tool_call_output", "tool_output",
        "function_output"], endsWith kind "output" = true := by decide
    exact each _ (contains_iff_mem.mp standard)
  · exact endsWith_trans ending (by decide)
  · exact endsWith_trans ending (by decide)

section

variable {readers : Readers} {transport : Transport} {records : List Json}

theorem calls_of : (Log.of readers transport records).calls =
    (callItems records).map (callOf readers transport) := by
  unfold Log.of callItems
  dsimp only
  rw [filter_filter]
  refine congrArg (List.map (callOf readers transport)) (filter_congr ?_)
  intro entry _
  cases call : isToolCallItem entry.item with
  | true => rw [isOutput_of_call call, Bool.true_or, Bool.not_false, Bool.true_and]
  | false =>
    cases output : isToolOutputItem entry.item with
    | true => rw [isOutput_of_output output, Bool.not_true, Bool.false_and]
    | false => rw [Bool.or_false, Bool.and_false]

theorem outputs_of : (Log.of readers transport records).outputs =
    (outputItems records).map (outputOf readers) := by
  unfold Log.of outputItems
  dsimp only
  rw [filter_filter]
  refine congrArg (List.map (outputOf readers)) (filter_congr ?_)
  intro entry _
  cases output : isToolOutputItem entry.item with
  | true => rw [isOutput_of_output output, Bool.or_true, Bool.and_true]
  | false =>
    cases call : isToolCallItem entry.item with
    | true => rw [isOutput_of_call call, Bool.false_and]
    | false => rw [Bool.or_false, Bool.and_false]

theorem mem_groups {α : Type} {key : α → String} {order : α → Nat} {entries : List α} {entry : α} :
    entry ∈ (groups key order entries).flatten ↔ entry ∈ entries := by
  unfold groups
  rw [mem_flatten]
  constructor
  · rintro ⟨group, member, inside⟩
    rw [mem_insertionSort] at member
    obtain ⟨name, _, rfl⟩ := mem_map.mp member
    exact mem_of_mem_filter inside
  · intro member
    refine ⟨entries.filter (key · = key entry), ?_, ?_⟩
    · rw [mem_insertionSort]
      exact mem_map.mpr ⟨key entry, mem_eraseDups.mpr (mem_map_of_mem member), rfl⟩
    · exact mem_filter.mpr ⟨member, decide_eq_true rfl⟩

end

/-! ## What becomes of the receipts -/

/-- What numbering and deferring leave of a receipt. -/
def Receipt.outline (receipt : Receipt) : Source × PairingStatus :=
  (receipt.source, receipt.pairingStatus)

theorem map_outline_number (receipts : List Receipt) :
    (number receipts).map Receipt.outline = receipts.map Receipt.outline := by
  unfold number
  rw [map_map]
  have same : Receipt.outline ∘ (fun entry : Receipt × Nat => { entry.1 with sequence := entry.2 }) =
      Receipt.outline ∘ Prod.fst := rfl
  rw [same, ← map_map, zipIdx_map_fst]

theorem map_outline_deferPending (receipts : List Receipt) :
    (deferPending receipts).map Receipt.outline = receipts.map Receipt.outline := by
  induction receipts with
  | nil => rfl
  | cons receipt later ih =>
    unfold deferPending
    rw [map_cons, ih]
    split
    · rfl
    · rfl

theorem map_sequence_number (receipts : List Receipt) :
    (number receipts).map Receipt.sequence = List.range receipts.length := by
  unfold number
  rw [map_map]
  exact (zipIdx_map_snd ..).trans range_eq_range'.symm

instance : Std.Total Precedes where
  total left right := by
    unfold Precedes
    omega

instance : IsTrans Receipt Precedes where
  trans first second third earlier later := by
    unfold Precedes at earlier later ⊢
    omega

section

variable {readers : Readers} {transport : Transport} {segment : Option String} {records : List Json}

/-- The receipts before they are put in order. -/
def outlines (readers : Readers) (segment : Option String) (log : Log) :
    List (Source × PairingStatus) :=
  (log.calls.map fun call => (.call call, (callReceipt readers segment log call).pairingStatus)) ++
    (((groups Output.key (·.entry.order) log.outputs).flatten.filter fun output =>
      log.callCount output.key = 0).map fun output => (.output output, .unpaired)) ++
    (((groups PatchEvent.key PatchEvent.order log.patchEvents).flatten.filter fun event =>
      log.callCount event.key = 0 && !log.isConsumed segment event).map fun event =>
        (.patch event, .unpaired))

theorem outline_perm :
    ((normalizeActionReceipts readers transport segment records).map Receipt.outline).Perm
      (outlines readers segment (Log.of readers transport records)) := by
  unfold normalizeActionReceipts
  rw [map_outline_number, map_outline_deferPending]
  refine ((perm_insertionSort _ _).map _).trans ?_
  rw [map_outline_number, map_append, map_append, map_map, map_map, map_map]
  apply List.Perm.append_right
  apply List.Perm.append_right
  exact (perm_insertionSort _ _).map _

theorem mem_outlines {receipt : Receipt}
    (member : receipt ∈ normalizeActionReceipts readers transport segment records) :
    (receipt.source, receipt.pairingStatus) ∈
      outlines readers segment (Log.of readers transport records) :=
  outline_perm.mem_iff.mp (mem_map_of_mem member)

theorem call_of_receipt {receipt : Receipt} {call : Call}
    (member : receipt ∈ normalizeActionReceipts readers transport segment records)
    (source : receipt.source = .call call) :
    call ∈ (Log.of readers transport records).calls ∧ receipt.pairingStatus =
      (callReceipt readers segment (Log.of readers transport records) call).pairingStatus := by
  have outlined := mem_outlines member
  rw [source] at outlined
  rcases mem_append.mp outlined with outlined | patch
  · rcases mem_append.mp outlined with made | output
    · obtain ⟨other, found, same⟩ := mem_map.mp made
      have calls := Source.call.inj (congrArg Prod.fst same)
      subst calls
      exact ⟨found, (congrArg Prod.snd same).symm⟩
    · obtain ⟨_, _, same⟩ := mem_map.mp output
      cases congrArg Prod.fst same
  · obtain ⟨_, _, same⟩ := mem_map.mp patch
    cases congrArg Prod.fst same

end

section

variable {readers : Readers} {transport : Transport} {segment : Option String}
  {records : List Json} {receipt : Receipt} {log : Log} {call : Call}

/-- A receipt after pending operations have been resolved, and before. -/
structure Resolves (made receipt : Receipt) : Prop where
  source : receipt.source = made.source
  tool : receipt.tool = made.tool
  exitCode : receipt.exitCode = made.exitCode
  kind : receipt.kind = made.kind ∨ made.kind = .pairedPending ∧ receipt.kind = .pairedDeferred

theorem Resolves.trans {first second third : Receipt} (one : Resolves first second)
    (other : Resolves second third) : Resolves first third where
  source := other.source.trans one.source
  tool := other.tool.trans one.tool
  exitCode := other.exitCode.trans one.exitCode
  kind := by
    rcases other.kind with same | ⟨pending, deferred⟩
    · rw [same]
      exact one.kind
    · rcases one.kind with same | ⟨_, settled⟩
      · exact .inr ⟨same.symm.trans pending, deferred⟩
      · rw [settled] at pending
        cases pending

theorem resolves_deferPending {receipts : List Receipt} (member : receipt ∈ deferPending receipts) :
    ∃ made ∈ receipts, Resolves made receipt := by
  induction receipts with
  | nil => exact absurd member not_mem_nil
  | cons first later ih =>
    rcases mem_cons.mp member with rfl | inside
    · refine ⟨first, mem_cons_self, ?_⟩
      split
      · rename_i resolved
        rw [Bool.and_eq_true, decide_eq_true_eq] at resolved
        exact ⟨rfl, rfl, rfl, .inr ⟨resolved.1, rfl⟩⟩
      · exact ⟨rfl, rfl, rfl, .inl rfl⟩
    · obtain ⟨made, listed, resolves⟩ := ih inside
      exact ⟨made, mem_cons_of_mem _ listed, resolves⟩

theorem resolves_number {receipts : List Receipt} (member : receipt ∈ number receipts) :
    ∃ made ∈ receipts, Resolves made receipt := by
  obtain ⟨entry, listed, rfl⟩ := mem_map.mp member
  exact ⟨entry.1, fst_mem_of_mem_zipIdx listed, rfl, rfl, rfl, .inl rfl⟩

/-- A receipt is that of a call, or belongs to no call. -/
theorem receipt_cases (member : receipt ∈ normalizeActionReceipts readers transport segment records) :
    (∃ call ∈ (Log.of readers transport records).calls,
        Resolves (callReceipt readers segment (Log.of readers transport records) call) receipt) ∨
      receipt.kind = .unpairedOutput ∧ ∀ call, receipt.source ≠ .call call := by
  obtain ⟨_, listed, last⟩ := resolves_number member
  obtain ⟨_, listed, middle⟩ := resolves_deferPending listed
  obtain ⟨made, listed, first⟩ := resolves_number ((mem_insertionSort _).mp listed)
  have resolves := (first.trans middle).trans last
  have uncalled (kind : made.kind = .unpairedOutput) (source : ∀ call, made.source ≠ .call call) :
      receipt.kind = .unpairedOutput ∧ ∀ call, receipt.source ≠ .call call := by
    refine ⟨?_, fun call same => source call (resolves.source.symm.trans same)⟩
    rcases resolves.kind with same | ⟨pending, _⟩
    · exact same.trans kind
    · rw [kind] at pending
      cases pending
  rcases mem_append.mp listed with listed | event
  · rcases mem_append.mp listed with ofCall | output
    · obtain ⟨call, called, rfl⟩ := mem_map.mp ofCall
      exact .inl ⟨call, (mem_insertionSort _).mp called, resolves⟩
    · obtain ⟨_, _, rfl⟩ := mem_map.mp output
      exact .inr (uncalled rfl fun _ same => by cases same)
  · obtain ⟨_, _, rfl⟩ := mem_map.mp event
    exact .inr (uncalled rfl fun _ same => by cases same)

theorem settled_cases (member : receipt ∈ normalizeActionReceipts readers transport segment records)
    (settled : receipt.kind ≠ .unpairedOutput) : ∃ call ∈ (Log.of readers transport records).calls,
      Resolves (callReceipt readers segment (Log.of readers transport records) call) receipt :=
  (receipt_cases member).resolve_right fun other => settled other.1

theorem Resolves.kind_eq {made : Receipt} (resolves : Resolves made receipt)
    (ended : made.kind ≠ .pairedPending) : receipt.kind = made.kind :=
  resolves.kind.resolve_right fun pending => ended pending.1

theorem Resolves.eq_kind {made : Receipt} (resolves : Resolves made receipt)
    (settled : receipt.kind ≠ .pairedDeferred) : made.kind = receipt.kind :=
  (resolves.kind.resolve_right fun deferred => settled deferred.2).symm

theorem clear_of_kind (clear : (callReceipt readers segment log call).kind ≠ .ambiguous) :
    log.isAmbiguous segment call = false ∧ (callResult readers segment log call).conflict = false ∧
      (callReceipt readers segment log call).kind = (callResult readers segment log call).kind := by
  unfold callReceipt at clear ⊢
  cases ambiguous : log.isAmbiguous segment call with
  | true => simp [ambiguous] at clear
  | false =>
    simp only [ambiguous, Bool.false_eq_true, if_false] at clear ⊢
    cases conflict : (callResult readers segment log call).conflict with
    | true => simp [conflict] at clear
    | false =>
      simp only [conflict] at clear ⊢
      refine ⟨trivial, trivial, ?_⟩
      split at clear
      · exact absurd rfl clear
      · rename_i same
        rw [if_neg same]

theorem resolves_of_source
    (member : receipt ∈ normalizeActionReceipts readers transport segment records)
    (source : receipt.source = .call call) : call ∈ (Log.of readers transport records).calls ∧
      Resolves (callReceipt readers segment (Log.of readers transport records) call) receipt := by
  rcases receipt_cases member with ⟨made, called, resolves⟩ | ⟨_, none⟩
  · obtain rfl := Source.call.inj (resolves.source.symm.trans source)
    exact ⟨called, resolves⟩
  · exact absurd source (none call)

end

/-! ## Statuses -/

section

variable {readers : Readers} {segment : Option String} {log : Log} {call : Call}

theorem status_of_ambiguous (ambiguous : log.isAmbiguous segment call = true) :
    (callReceipt readers segment log call).pairingStatus = .ambiguous := by
  unfold callReceipt
  dsimp only
  rw [ambiguous, Bool.true_or]
  rfl

theorem isAmbiguous_eq_false (clear : log.isAmbiguous segment call = false) :
    log.callCount call.key ≤ 1 ∧ (log.outputsFor call.key).length ≤ 1 ∧
      (log.validEvents segment call).length ≤ 1 ∧ log.invalidEvent segment call = false := by
  unfold Log.isAmbiguous at clear
  simp only [Bool.or_eq_false_iff, decide_eq_false_iff_not, Nat.not_lt] at clear
  obtain ⟨⟨⟨calls, outputs⟩, valid⟩, invalid⟩ := clear
  exact ⟨calls, outputs, valid, invalid⟩

/-- A structured event that explains a patch: no other event does, and by the orders it lies behind the call,
in its segment, and before its output. -/
structure Explains (segment : Option String) (log : Log) (call : Call) (event : PatchEvent) : Prop where
  tool : call.tool = "apply_patch"
  only : log.allEvents segment call = [event]
  after : call.order < event.order
  before : ∀ output, log.outputOf? call = some output → event.order < output.entry.order
  segment : inSegment segment event = true

variable {event : PatchEvent}

theorem candidates_of_nestedEvent (nested : log.nestedEvent segment call = some event) :
    log.candidates segment call = [event] := by
  unfold Log.nestedEvent at nested
  split at nested
  · rename_i found only
    split at nested
    · cases nested
      exact only
    · cases nested
  · cases nested

theorem nestedEvent_candidate (nested : log.nestedEvent segment call = some event) :
    event ∈ log.candidates segment call := by
  rw [candidates_of_nestedEvent nested]
  exact mem_cons_self

theorem candidate_between (candidate : event ∈ log.candidates segment call) :
    event ∈ log.patchEvents ∧ call.order < event.order ∧
      ∀ output, log.outputOf? call = some output → event.order < output.entry.order := by
  unfold Log.candidates at candidate
  dsimp only at candidate
  split at candidate
  · exact absurd candidate not_mem_nil
  · obtain ⟨listed, holds⟩ := mem_filter.mp candidate
    simp only [Bool.and_eq_true, decide_eq_true_eq, Option.all_eq_true] at holds
    obtain ⟨⟨⟨⟨_, after⟩, before⟩, _⟩, _⟩ := holds
    exact ⟨listed, after, fun output answered => before output answered⟩

theorem candidate_ok (candidate : event ∈ log.candidates segment call) :
    call.order < event.order ∧ inSegment segment event = true ∧ log.callCount event.key = 0 ∧
      (observedTargets event).any (targetsMatch (expectedTargets call)) = true := by
  unfold Log.candidates at candidate
  dsimp only at candidate
  split at candidate
  · exact absurd candidate not_mem_nil
  · obtain ⟨_, holds⟩ := mem_filter.mp candidate
    simp only [Bool.and_eq_true, decide_eq_true_eq] at holds
    obtain ⟨⟨⟨⟨⟨⟨unclaimed, _⟩, _⟩, after⟩, _⟩, segment⟩, matched⟩ := holds
    exact ⟨after, segment, unclaimed, matched⟩

/-- An event of an unambiguous call explains it. -/
theorem explains_of_clear (clear : log.isAmbiguous segment call = false)
    (joined : event ∈ log.allEvents segment call) : Explains segment log call event := by
  obtain ⟨_, _, few, valid⟩ := isAmbiguous_eq_false clear
  have nonempty : log.allEvents segment call ≠ [] := ne_nil_of_mem joined
  unfold Log.invalidEvent at valid
  rw [decide_eq_true nonempty, Bool.true_and, Bool.or_eq_false_iff] at valid
  obtain ⟨tool, valid⟩ := valid
  have tool := of_decide_eq_false tool
  have tool := not_not.mp tool
  have only (single : (log.allEvents segment call).length = 1) :
      log.allEvents segment call = [event] := by
    obtain ⟨other, same⟩ := length_eq_one_iff.mp single
    rw [same] at joined ⊢
    rw [mem_singleton.mp joined]
  by_cases whole : (log.validEvents segment call).length = (log.allEvents segment call).length
  · have each := whole
    unfold Log.validEvents at each few
    rw [if_pos tool] at each few
    have holds := length_filter_eq_length_iff.mp each event joined
    simp only [Bool.and_eq_true] at holds
    obtain ⟨between, segment⟩ := holds
    obtain ⟨output, found, between⟩ := (Option.any_eq_true _ _).mp between
    simp only [Bool.and_eq_true, decide_eq_true_eq] at between
    refine ⟨tool, only ?_, between.1, ?_, segment⟩
    · have positive := length_pos_of_ne_nil nonempty
      omega
    · intro other same
      rw [found] at same
      cases same
      exact between.2
  · rw [decide_eq_true whole, Bool.and_eq_false_iff] at valid
    rcases valid with nested | direct
    · have nested : log.pendingNested segment call = true := by simpa using nested
      unfold Log.pendingNested at nested
      simp only [Bool.and_eq_true, decide_eq_true_eq] at nested
      obtain ⟨⟨⟨⟨_, _⟩, unanswered⟩, found⟩, single⟩ := nested
      obtain ⟨other, found⟩ := Option.isSome_iff_exists.mp found
      have same : other = event := by
        have there : other ∈ log.allEvents segment call := by
          unfold Log.allEvents
          rw [found]
          exact mem_append_right _ mem_cons_self
        rw [only single] at there
        exact mem_singleton.mp there
      rw [same] at found
      obtain ⟨after, segment, _⟩ := candidate_ok (nestedEvent_candidate found)
      refine ⟨tool, only single, after, ?_, segment⟩
      intro output answered
      rw [answered] at unanswered
      cases unanswered
    · have direct : log.pendingDirect segment call = true := by simpa using direct
      unfold Log.pendingDirect at direct
      simp only [Bool.and_eq_true, decide_eq_true_eq] at direct
      obtain ⟨⟨⟨⟨_, _⟩, unanswered⟩, single⟩, each⟩ := direct
      have holds := all_eq_true.mp each event joined
      simp only [Bool.and_eq_true, decide_eq_true_eq] at holds
      refine ⟨tool, only single, holds.1, ?_, holds.2⟩
      intro output answered
      rw [answered] at unanswered
      cases unanswered

/-- A structured event reports that its patch was applied. -/
def Applied (event : PatchEvent) : Prop :=
  event.item.value "success" = .bool true ∧ event.item.value "status" = .str "completed"

end

/-! ## Call ids -/

section

variable {readers : Readers} {transport : Transport} {records : List Json} {id : String}

theorem startsWith_append (front rest : String) : startsWith (front ++ rest) front = true := by
  unfold startsWith
  rw [ isPrefixOf_iff_prefix, String.toList_append]
  exact prefix_append _ _

theorem callOf_entry (entry : Entry) : (callOf readers transport entry).entry = entry := by
  unfold callOf
  split
  · rfl
  · rfl

theorem eq_singleton_of_mem {α : Type} {values : List α} {value : α} (member : value ∈ values)
    (few : values.length ≤ 1) : values = [value] := by
  have positive := length_pos_of_mem member
  obtain ⟨other, rfl⟩ := length_eq_one_iff.mp (Nat.le_antisymm few positive)
  rw [mem_singleton.mp member]

end

/-! ## Places -/

/-- The record and the item that a receipt is made for. -/
def Source.place : Source → Nat × Nat
  | .call made => (made.entry.recordIndex, made.entry.itemIndex)
  | .output found => (found.entry.recordIndex, found.entry.itemIndex)
  | .patch event => (event.recordIndex, 0)

/-- By record, and in a record by item. -/
def InOrder (left right : Nat × Nat) : Prop := left.1 < right.1 ∨ left.1 = right.1 ∧ left.2 ≤ right.2

/-- No record has more than a thousand items. -/
def Short (records : List Json) : Prop := ∀ record ∈ records, (eventItems record).length ≤ 1000

theorem itemIndex_lt {records : List Json} (short : Short records) {entry : Entry}
    (member : entry ∈ entries records) : entry.itemIndex < 1000 := by
  obtain ⟨record, listed, inside⟩ := mem_flatMap.mp member
  obtain ⟨item, found, rfl⟩ := mem_map.mp inside
  have few := short record.1 (fst_mem_of_mem_zipIdx listed)
  have bound := snd_lt_of_mem_zipIdx found
  exact Nat.lt_of_lt_of_le bound few

theorem Source.order_eq (source : Source) : source.order = source.place.1 * 1000 + source.place.2 := by
  cases source with
  | call | output => rfl
  | patch event => exact (Nat.add_zero _).symm

/-- The item of one source comes before that of another. -/
def Source.Before (earlier later : Source) : Prop :=
  earlier.place.1 < later.place.1 ∨
    earlier.place.1 = later.place.1 ∧ earlier.place.2 < later.place.2

theorem Source.before_of_order {earlier later : Source} (bound : later.place.2 < 1000)
    (order : earlier.order < later.order) : earlier.Before later := by
  rw [order_eq, order_eq] at order
  unfold Before
  omega

/-- The event settles the receipt of a patch: it is the only event of the call, in its segment and behind
it, and before the output where records are short; the answered call says what the event reports, unless it
is ambiguous, or wrapped and left open. -/
structure Settles (segment : Option String) (records : List Json) (log : Log) (receipt : Receipt)
    (call : Call) (event : PatchEvent) : Prop where
  tool : call.tool = "apply_patch"
  only : log.allEvents segment call = [event]
  segment : inSegment segment event = true
  after : (Source.call call).Before (.patch event)
  before : Short records → ∀ output, log.outputOf? call = some output →
    (Source.patch event).Before (.output output)
  kind : ∀ output, log.outputOf? call = some output →
    receipt.kind = .ambiguous ∨ receipt.kind = (eventResult event false none).kind ∨
      call.namespaced = true ∧ receipt.kind = .pairedUnknown

section

variable {readers : Readers} {transport : Transport} {segment : Option String} {records : List Json}
  {call : Call} {event : PatchEvent} {output : Output}

theorem place_of_output (short : Short records)
    (answered : (Log.of readers transport records).outputOf? call = some output) :
    (Source.output output).place.2 < 1000 := by
  have listed := mem_of_mem_filter (mem_of_mem_head? (Option.mem_def.mpr answered))
  rw [outputs_of] at listed
  obtain ⟨entry, isOutput, rfl⟩ := mem_map.mp listed
  exact itemIndex_lt short (mem_of_mem_filter isOutput)

variable {log : Log}

end

/-! ## Pairing -/

section

variable (readers : Readers) (transport : Transport) (segment : Option String) (records : List Json)

def Numbered : Prop :=
  (normalizeActionReceipts readers transport segment records).map Receipt.sequence =
    List.range (normalizeActionReceipts readers transport segment records).length

/-- The receipts stand in the order of the log. -/
def Ordered : Prop :=
  (normalizeActionReceipts readers transport segment records).Pairwise fun earlier later =>
    InOrder earlier.source.place later.source.place

variable {readers transport segment records}

theorem numbered : Numbered readers transport segment records := by
  unfold Numbered normalizeActionReceipts
  rw [map_sequence_number]
  unfold number
  rw [length_map, length_zipIdx]

theorem mem_calls {call : Call} (member : call ∈ (Log.of readers transport records).calls) :
    call.entry ∈ callItems records ∧ callOf readers transport call.entry = call := by
  rw [calls_of] at member
  obtain ⟨entry, found, rfl⟩ := mem_map.mp member
  rw [callOf_entry]
  exact ⟨found, rfl⟩

/-- The places of the items that receipts are made for are in the log. -/
theorem place_bound (short : Short records) {receipt : Receipt}
    (member : receipt ∈ normalizeActionReceipts readers transport segment records) :
    receipt.source.place.2 < 1000 := by
  cases source : receipt.source with
  | call call =>
    obtain ⟨isCall, _⟩ := mem_calls (call_of_receipt member source).1
    exact itemIndex_lt short (mem_of_mem_filter isCall)
  | output found =>
    have outlined := mem_outlines member
    rw [source] at outlined
    rcases mem_append.mp outlined with outlined | patch
    · rcases mem_append.mp outlined with made | output
      · obtain ⟨_, _, same⟩ := mem_map.mp made
        cases congrArg Prod.fst same
      · obtain ⟨other, listed, same⟩ := mem_map.mp output
        have same := Source.output.inj (congrArg Prod.fst same)
        subst same
        have listed := mem_groups.mp (mem_of_mem_filter listed)
        rw [outputs_of] at listed
        obtain ⟨entry, isOutput, rfl⟩ := mem_map.mp listed
        exact itemIndex_lt short (mem_of_mem_filter isOutput)
    · obtain ⟨_, _, same⟩ := mem_map.mp patch
      cases congrArg Prod.fst same
  | patch event => exact Nat.succ_pos 999

theorem ordered (short : Short records) : Ordered readers transport segment records := by
  have sorted : (normalizeActionReceipts readers transport segment records).Pairwise
      fun earlier later => earlier.source.order ≤ later.source.order := by
    apply pairwise_map.mp
    have sources (receipts : List Receipt) : receipts.map (fun receipt => receipt.source.order) =
        (receipts.map Receipt.outline).map fun outline => outline.1.order := by
      rw [map_map]
      exact map_congr_left fun receipt _ => rfl
    rw [sources]
    unfold normalizeActionReceipts
    rw [map_outline_number, map_outline_deferPending, map_map, pairwise_map]
    refine (pairwise_insertionSort Precedes _).imp ?_
    intro earlier later precedes
    exact precedes.elim Nat.le_of_lt fun same => Nat.le_of_eq same.1
  refine sorted.imp_of_mem ?_
  intro earlier later first second order
  have right := place_bound short second
  rw [Source.order_eq, Source.order_eq] at order
  unfold InOrder
  omega

end

/-! ## A patch event that is not reported -/

/-- The item comes later in the log. -/
def Entry.Before (earlier later : Entry) : Prop :=
  earlier.recordIndex < later.recordIndex ∨
    earlier.recordIndex = later.recordIndex ∧ earlier.itemIndex < later.itemIndex

def sampleReaders : Readers where
  render _ := ""
  loads _ := none
  exitCodes text := if text = "Exit code: 0\n" then [0] else []
  execInterrupted _ := false
  verificationFailed _ := false
  completedBody _ := none
  execSource _ := none

end WorkOrchestration.Native.ActionReceipts
