import Metering.Proofs.Stream.Reports

/-!
What a counter owes its only reader: the measurements that were stored since the reader's last
collection. For each attribute set a collection of changes answers what these measurements come to,
and behind it nothing is owed. A stream that nobody measures into has nothing to answer.
-/

namespace Metering

/-- Whether what was given comes to what was owed, modulo 2^64. -/
structure Quantity.Meets (given owed : List Quantity) : Prop where
  sum : Quantity.sum .unsigned given = Quantity.sum .unsigned owed
  typed : ∀ value ∈ given, value.HasType .unsigned

namespace Quantity.Meets

variable {given owed : List Quantity} (meets : Meets given owed)

theorem nil : Meets [] [] := ⟨rfl, nofun⟩

include meets

theorem perm {other : List Quantity} (perm : other.Perm given) : Meets other owed := by
  refine ⟨?_, fun value member => meets.typed value (perm.mem_iff.mp member)⟩
  rw [Quantity.sum, Quantity.total_perm perm]
  exact meets.sum

theorem append {later due : List Quantity} (more : Meets later due) :
    Meets (given ++ later) (owed ++ due) := by
  refine ⟨?_, fun value member => ?_⟩
  · rw [Quantity.sum_concat rfl, Quantity.sum_concat rfl, meets.sum, more.sum]
  · exact (List.mem_append.mp member).elim (meets.typed value) (more.typed value)

end Quantity.Meets

namespace Stream

section Idle

variable {stream : Stream} (idle : stream.series.accumulations.entries = [])
  (collector : Collector) (time : UInt64)

include idle

theorem collect_idle :
    (stream.collect collector time).1.series.accumulations.entries = [] ∧
      stream.pointsFor collector time = [] := by
  have visits : ∀ slot, stream.visits slot = [] := fun slot => by
    rw [visits, idle, List.map_nil]
  cases asked : collector.temporality stream.definition.kind with
  | cumulative =>
    rw [stream.collect_cumulative collector time asked, pointsFor_eq, points]
    simp only [asked, cumulativePoints, idle, List.map_nil, and_self]
  | delta =>
    rw [stream.collect_delta collector time asked, pointsFor_eq, points]
    simp only [asked, deltaPoints]
    split
    next => exact ⟨idle, rfl⟩
    next => simp [visits, sweep]

end Idle

/-- What a stream with one reader owes it. Streams that are no counters are not measured into. -/
inductive Owes (temporality : TemporalityChoice) (stream : Stream) (entries : List Entry) :
    Prop where
  | counting (kind : stream.definition.kind = .counter) (account : Account)
      (same : account.stream = stream) (accurate : account.Accurate [temporality] .unsigned)
      (unseen : account.unseen 0 = entries)
  | idle (kind : stream.definition.kind ≠ .counter)
      (empty : stream.series.accumulations.entries = []) (nothing : entries = [])

variable {temporality : TemporalityChoice}

theorem owes_create (definition : StreamDefinition) (filter : ExemplarFilter) (start : UInt64) :
    (create definition filter start [temporality]).Owes temporality [] := by
  by_cases kind : definition.kind = .counter
  · exact .counting kind (.create definition filter start [temporality]) rfl
      (Account.accurate_create definition filter start [temporality]) rfl
  · exact .idle kind rfl rfl

/-- The measurement as a stream stores it, unless it is refused. -/
def stored? (stream : Stream) (now : UInt64) (value : Quantity) (attributes : List Attribute) :
    Option Entry :=
  (stream.place? value attributes).map fun set => ⟨set, value, now⟩

theorem stored_unsigned (stream : Stream) (now : UInt64) {value : Quantity}
    (measured : value.HasType .unsigned) (attributes : List Attribute) :
    ∃ set, stream.stored? now value attributes = some ⟨set, value, now⟩ := by
  cases value with
  | unsigned word =>
    simp [stored?, place?, accepts, Quantity.isNegative]
  | signed _ => cases measured
  | float _ => cases measured

namespace Owes

variable {stream : Stream} {entries : List Entry} (owes : stream.Owes temporality entries)

include owes

theorem record (kind : stream.definition.kind = .counter) (now : UInt64) {value : Quantity}
    (measured : value.HasType .unsigned) (attributes : List Attribute) :
    (stream.record now value attributes).1.Owes temporality
      (entries ++ (stream.stored? now value attributes).toList) := by
  cases owes with
  | idle other => exact absurd kind other
  | counting _ account same accurate unseen =>
    subst same unseen
    have recorded := accurate.record rfl now value measured attributes
    have stream := account.stream_record now value attributes
    cases placed : account.stream.place? value attributes with
    | none =>
      have refused := account.stream.record_refused now value attributes placed
      rw [stored?, placed, Option.map_none, Option.toList_none, List.append_nil, refused]
      exact .counting kind account rfl accurate rfl
    | some set =>
      have terms := account.stream.sameTerms_record now value attributes set placed
      refine .counting (terms.definition ▸ kind) (account.record now value attributes) stream
        recorded ?_
      rw [account.unseen_record now value attributes set placed, stored?, placed, Option.map_some,
        Option.toList_some]

variable (since time : UInt64)

/-- A collection settles what is owed. -/
theorem collect : (stream.collect ⟨0, temporality, since⟩ time).1.Owes temporality [] := by
  have terms := stream.sameTerms_collect ⟨0, temporality, since⟩ time
  cases owes with
  | idle kind empty =>
    exact .idle (terms.definition ▸ kind) (stream.collect_idle empty _ time).1 rfl
  | counting kind account same accurate _ =>
    subst same
    refine .counting (terms.definition ▸ kind) (account.collect ⟨0, temporality, since⟩ time)
      (account.stream_collect _ time) (accurate.collect rfl 0 temporality rfl since time) ?_
    rw [account.unseen_collect, if_pos rfl]

/-- What a collection answers for an attribute set is what is owed there. -/
theorem collected (delta : temporality .counter = .delta) (set : AttributeSet)
    (proper : set.Canonical) :
    Quantity.Meets (valuesAt set.toList (stream.pointsFor ⟨0, temporality, since⟩ time))
      (valuesUnder set entries) := by
  cases owes with
  | idle _ empty nothing =>
    subst nothing
    rw [(stream.collect_idle empty ⟨0, temporality, since⟩ time).2]
    exact .nil
  | counting kind account same accurate unseen =>
    subst same unseen
    have asks : AsksForDelta [temporality] account.stream.definition.kind 0 :=
      ⟨temporality, rfl, kind ▸ delta⟩
    have bounded : 0 < account.stream.slots.length := accurate.slots ▸ Nat.zero_lt_one
    rw [account.stream.valuesAt_collect accurate.coherent ⟨0, temporality, since⟩ time
      (kind ▸ delta) bounded set proper]
    cases present : account.stream.live set with
    | none =>
      rw [due_absent present, accurate.absent 0 set asks present]
      exact .nil
    | some accumulation =>
      cases known : accumulation.isKnown (account.stream.last 0 set) with
      | true =>
        have balanced := accurate.balanced 0 set accumulation asks present
        have updated := accurate.coherent.updated set accumulation present
        rw [due_known present known, (balanced.isKnown_iff updated).mp known]
        exact .nil
      | false =>
        have change := accurate.change_eq rfl (kind ▸ rfl) 0 asks set accumulation present known
        have sums : account.stream.definition.kind.aggregate .unsigned
            (valuesUnder set (account.unseen 0)) =
              Quantity.sum .unsigned (valuesUnder set (account.unseen 0)) := by
          rw [kind]
          rfl
        have typed : (Quantity.sum .unsigned (valuesUnder set (account.unseen 0))).HasType
            .unsigned := Quantity.hasType_sum rfl _
        rw [due_news present known, change, sums]
        exact ⟨Quantity.sum_singleton rfl _ typed, fun value member =>
          List.mem_singleton.mp member ▸ typed⟩

end Owes

end Stream

end Metering
