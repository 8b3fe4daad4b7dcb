import Metering.Proofs.Stream.Account
import Metering.Proofs.Stream.Steps

/-!
The limit on attribute sets. The counter of a stream is the number of its series that count towards
the limit, whatever was recorded, dropped or reset, and it never exceeds the limit.
-/

namespace Metering

theorem AttributeSet.isCounted_overflow : AttributeSet.overflow.isCounted = false := by
  simp [isCounted]

namespace Series

/-- Whether the counter of tracked series tells how many series count towards the limit. -/
structure Tracked (series : Series) (limit : Nat) : Prop where
  exact : series.tracked = series.accumulations.keys.countP AttributeSet.isCounted
  bounded : series.tracked ≤ limit

theorem contains_iff (series : Series) (set : AttributeSet) :
    series.accumulations.contains set = true ↔ set ∈ series.accumulations.keys := by
  rw [Table.mem_keys_iff]
  rfl

section Tracked

variable {series : Series} {limit : Nat}

theorem tracked_empty (limit : Nat) : empty.Tracked limit := ⟨rfl, Nat.zero_le limit⟩

theorem tracked_clear (series : Series) (limit : Nat) : series.clear.Tracked limit :=
  ⟨rfl, Nat.zero_le limit⟩

theorem Tracked.evict (tracked : series.Tracked limit)
    (distinct : series.accumulations.Distinct) (set : AttributeSet) :
    (series.evict set).Tracked limit := by
  unfold Series.evict
  split
  next there =>
    have member := (series.contains_iff set).mp there
    have erased : series.accumulations.keys.countP AttributeSet.isCounted =
        (series.accumulations.erase set).keys.countP AttributeSet.isCounted +
          if set.isCounted then 1 else 0 := by
      have same : (series.accumulations.keys.filter fun other => decide (other ≠ set)) =
          series.accumulations.keys.erase set := by
        rw [List.Nodup.erase_eq_filter distinct]
        apply List.filter_congr
        intro other _
        by_cases equal : other = set <;> simp [equal]
      rw [Table.keys_erase, same, (List.perm_cons_erase member).countP_eq, List.countP_cons]
    have exact := tracked.exact
    have bounded := tracked.bounded
    refine ⟨?_, ?_⟩
    · change (if set.isCounted then series.tracked - 1 else series.tracked) =
        (series.accumulations.erase set).keys.countP AttributeSet.isCounted
      split at erased <;> split <;> simp_all
    · change (if set.isCounted then series.tracked - 1 else series.tracked) ≤ limit
      split <;> omega
  next => exact tracked

theorem Tracked.foldl_evict (tracked : series.Tracked limit)
    (distinct : series.accumulations.Distinct) (sets : List AttributeSet) :
    (sets.foldl Series.evict series).Tracked limit := by
  induction sets generalizing series with
  | nil => exact tracked
  | cons first rest ih =>
    exact ih (tracked.evict distinct first) (Stream.distinct_foldl_evict [first] series distinct)

theorem tracked_take (definition : StreamDefinition) (series : Series) (set : AttributeSet)
    (value : Quantity) (exemplar : Option Exemplar) :
    (series.take definition set value exemplar).1.tracked =
      (series.route definition set).1.tracked := by
  unfold take accumulation
  dsimp only
  split <;> rfl

theorem keys_take (definition : StreamDefinition) (series : Series) (set : AttributeSet)
    (value : Quantity) (exemplar : Option Exemplar) :
    (series.take definition set value exemplar).1.accumulations.keys =
      if (series.route definition set).2.1 ∈ series.accumulations.keys then
        series.accumulations.keys
      else series.accumulations.keys ++ [(series.route definition set).2.1] := by
  have routed := Stream.route_accumulations series definition set
  unfold take accumulation
  dsimp only
  rw [Table.keys, Table.insert, Table.keys_put]
  split <;> rw [routed.1] <;> rfl

/-- A set that counts and is new is given room as long as there is some, and every other
measurement finds its series or makes one that does not count. -/
inductive Routed (series : Series) (definition : StreamDefinition) (set : AttributeSet) : Prop where
  | found (key : (series.route definition set).2.1 ∈ series.accumulations.keys)
      (counter : (series.route definition set).1.tracked = series.tracked)
  | counted (absent : set ∉ series.accumulations.keys)
      (key : (series.route definition set).2.1 = set) (counts : set.isCounted = true)
      (room : series.tracked < definition.cardinalityLimit)
      (counter : (series.route definition set).1.tracked = series.tracked + 1)
  | uncounted (absent : (series.route definition set).2.1 ∉ series.accumulations.keys)
      (ignored : (series.route definition set).2.1.isCounted = false)
      (counter : (series.route definition set).1.tracked = series.tracked)

theorem routed (series : Series) (definition : StreamDefinition) (set : AttributeSet) :
    series.Routed definition set := by
  by_cases member : set ∈ series.accumulations.keys
  · have unchanged : series.route definition set = (series, set, []) := by
      simp [route, (series.contains_iff set).mpr member]
    exact .found (by rw [unchanged]; exact member) (by rw [unchanged])
  · have absent : series.accumulations.contains set = false := by
      rw [← Bool.not_eq_true, series.contains_iff]
      exact member
    cases counts : set.isCounted with
    | false =>
      have unchanged : series.route definition set = (series, set, []) := by simp [route, counts]
      exact .uncounted (by rw [unchanged]; exact member) (by rw [unchanged]; exact counts)
        (by rw [unchanged])
    | true =>
      by_cases room : series.tracked < definition.cardinalityLimit
      · have taken : series.route definition set =
            ({ series with tracked := series.tracked + 1 }, set, []) := by
          simp [route, counts, absent, room]
        exact .counted member (by rw [taken]) counts room (by rw [taken])
      · have key : (series.route definition set).2.1 = .overflow ∧
            (series.route definition set).1.tracked = series.tracked := by
          simp [route, counts, absent, room]
        by_cases there : AttributeSet.overflow ∈ series.accumulations.keys
        · exact .found (by rw [key.1]; exact there) key.2
        · exact .uncounted (by rw [key.1]; exact there)
            (by rw [key.1]; exact AttributeSet.isCounted_overflow) key.2

theorem Tracked.take {definition : StreamDefinition}
    (tracked : series.Tracked definition.cardinalityLimit) (set : AttributeSet)
    (value : Quantity) (exemplar : Option Exemplar) :
    (series.take definition set value exemplar).1.Tracked definition.cardinalityLimit := by
  have exact := tracked.exact
  have bounded := tracked.bounded
  have counter := series.tracked_take definition set value exemplar
  have keys := series.keys_take definition set value exemplar
  cases series.routed definition set with
  | found key same =>
    rw [if_pos key] at keys
    exact ⟨by rw [counter, keys, same, exact], by rw [counter, same]; exact bounded⟩
  | counted absent key counts room raised =>
    rw [key, if_neg absent] at keys
    refine ⟨?_, by rw [counter, raised]; exact room⟩
    rw [counter, keys, raised, exact, List.countP_append, List.countP_singleton, if_pos counts]
  | uncounted absent ignored same =>
    rw [if_neg absent] at keys
    refine ⟨?_, by rw [counter, same]; exact bounded⟩
    rw [counter, keys, same, exact, List.countP_append, List.countP_singleton, ignored]
    rfl

end Tracked

end Series

namespace Stream

/-- Whether the counter of a stream keeps to the truth and to the limit. -/
def Limited (stream : Stream) : Prop :=
  stream.series.Tracked stream.definition.cardinalityLimit

theorem limited_create (definition : StreamDefinition) (filter : ExemplarFilter)
    (start : UInt64) (readers : List TemporalityChoice) :
    (create definition filter start readers).Limited :=
  Series.tracked_empty definition.cardinalityLimit

theorem limited_reset (stream : Stream) : stream.reset.Limited :=
  Series.tracked_clear stream.series stream.definition.cardinalityLimit

theorem Limited.record {stream : Stream} (limited : stream.Limited) (now : UInt64)
    (value : Quantity) (attributes : List Attribute) :
    (stream.record now value attributes).1.Limited := by
  cases placed : stream.place? value attributes with
  | none =>
    rw [stream.record_refused now value attributes placed]
    exact limited
  | some key =>
    rw [(stream.record_series now value attributes key placed).1]
    exact Series.Tracked.take limited (stream.attributeSet attributes) value
      (stream.exemplar? now value)

/-- The series as a reader's visits leave them, before any are dropped. -/
def visited (stream : Stream) (slot : Slot) : Series :=
  { stream.series with
    accumulations := ⟨(stream.visits slot).map fun entry => (entry.1, entry.2.accumulation)⟩ }

/-- The sets whose series a reader's visits drop, one after the other. -/
def evictions (stream : Stream) (slot : Slot) : List AttributeSet :=
  ((stream.visits slot).filter fun entry => entry.2.evicted).map (·.1)

theorem series_deltaPoints (stream : Stream) (collector : Collector) (time : UInt64) (slot : Slot)
    (found : stream.slots[collector.position]? = some slot) :
    (stream.deltaPoints collector time).1.series =
      (stream.evictions slot).foldl Series.evict (stream.visited slot) := by
  simp only [deltaPoints, found]
  exact sweep_eq stream.series (stream.visits slot)

theorem keys_visited (stream : Stream) (slot : Slot) :
    (stream.visited slot).accumulations.keys = stream.series.accumulations.keys := by
  rw [← stream.keys_visits slot, visited, Table.keys, List.map_map]
  rfl

theorem distinct_visited {stream : Stream} (distinct : stream.series.accumulations.Distinct)
    (slot : Slot) : (stream.visited slot).accumulations.Distinct := by
  rw [Table.Distinct, keys_visited]
  exact distinct

theorem Limited.visited {stream : Stream} (limited : stream.Limited) (slot : Slot) :
    (stream.visited slot).Tracked stream.definition.cardinalityLimit := by
  refine ⟨?_, limited.bounded⟩
  rw [keys_visited]
  exact limited.exact

theorem Limited.collect {stream : Stream} (limited : stream.Limited)
    (distinct : stream.series.accumulations.Distinct) (collector : Collector) (time : UInt64) :
    (stream.collect collector time).1.Limited := by
  rw [Limited, (stream.sameTerms_collect collector time).definition]
  cases asked : collector.temporality stream.definition.kind with
  | cumulative =>
    rw [stream.collect_cumulative collector time asked]
    exact limited
  | delta =>
    rw [stream.collect_delta collector time asked]
    cases found : stream.slots[collector.position]? with
    | none =>
      simp only [deltaPoints, found]
      exact limited
    | some slot =>
      rw [stream.series_deltaPoints collector time slot found]
      exact (limited.visited slot).foldl_evict (distinct_visited distinct slot) _

end Stream

namespace Account

theorem limited_step (readers : List TemporalityChoice) (account : Account)
    (limited : account.stream.Limited)
    (distinct : account.stream.series.accumulations.Distinct) (operation : Operation) :
    (account.step readers operation).stream.Limited := by
  cases operation with
  | record now value attributes =>
    have next := limited.record now value attributes
    simp only [step, record]
    split <;> exact next
  | collect position since time =>
    simp only [step]
    split
    next => exact limited
    next temporality _ => exact limited.collect distinct ⟨position, temporality, since⟩ time
  | reset => exact account.stream.limited_reset

end Account

end Metering
