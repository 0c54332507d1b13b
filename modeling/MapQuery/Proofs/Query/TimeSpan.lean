import MapQuery.Proofs.Calendar.Epoch
import MapQuery.Proofs.Query.OpenRange

/-!
# Spans between two dates

A query for the time between two dates compares seconds and not instants. Since the seconds follow
the order of the instants, no object is lost that way whose time is neither before the one date nor
after the other.

* `spanQuery` -- the query for the time between two dates;
* `compile_spanQuery` -- what it means;
* `seconds_follow_instants` -- seconds follow the instants, and so does what passes the query.
-/

namespace MapQuery.Query

open Calendar

/-- The query for the time between two dates, such as `timestamp:"2011/2012-03-01"`. -/
def spanQuery (low high : String) : String :=
  String.ofList (Predicate.operand "timestamp" (low ++ "/" ++ high))

variable {s : Setting} {low high : String} {a b : Moment}

/-- **The query tests whether the time in seconds lies between those of the dates.** -/
theorem compile_spanQuery (s : Setting) (hlow : '/' ∉ low.toList) (hhigh : '/' ∉ high.toList)
    (ha : readInstant low = .ok a) (hb : readInstant high = .ok b) :
    (compile s (spanQuery low high)).outcome =
      .ok (.count .timestamp (Range.between a.epochSeconds b.epochSeconds)) := by
  have hsplit : (low ++ "/" ++ high).toList.splitOn '/' = [low.toList, high.toList] := by
    refine splitOn_eq_pair_iff.mpr ⟨?_, hlow, hhigh⟩
    simp [String.toList_append]
  have htest : timestampTest s (low ++ "/" ++ high) =
      .ok (.count .timestamp (Range.between a.epochSeconds b.epochSeconds)) := by
    unfold timestampTest
    rw [hsplit]
    simp only
    rw [spanBound_of_readInstant ha, spanBound_of_readInstant hb]
    rfl
  have hkey : IsBareKey "timestamp" := isBareKey_keyword _ (by decide)
  exact (compile_operand s hkey (low ++ "/" ++ high)).2.trans htest

/-- **Seconds follow the order of instants.** Of two moments the later one does not have fewer
    seconds, moments of one instant have the same, and where the instants have no fraction their
    difference is exact. The query for the time between two dates has the same meaning in both
    orders of the dates, and what passes it has seconds between theirs. So every object passes that
    is neither before the first nor after the second. -/
theorem seconds_follow_instants :
    (∀ a b : Moment, a.instant ≤ b.instant → a.epochSeconds ≤ b.epochSeconds) ∧
    (∀ a b : Moment, a.instant = b.instant → a.epochSeconds = b.epochSeconds) ∧
    (∀ a b : Moment, a.Proper → b.Proper →
      a.instant % microsPerSecond = 0 → b.instant % microsPerSecond = 0 →
        (b.epochSeconds - a.epochSeconds) * microsPerSecond = b.instant - a.instant) ∧
    ∀ (s : Setting) (low high : String) (a b : Moment), '/' ∉ low.toList → '/' ∉ high.toList →
      readInstant low = .ok a → readInstant high = .ok b →
        ∃ q, (compile s (spanQuery low high)).outcome = .ok q ∧
          (compile s (spanQuery high low)).outcome = .ok q ∧
          ∀ (g : Graph) (selection : Option (List Key)) (x : Handle) (p : Primitive) (t : Moment),
            g.get? x = some p → p.timestamp = some t →
              (g.holds selection q x = .ok true ↔
                min a.epochSeconds b.epochSeconds ≤ t.epochSeconds ∧
                  t.epochSeconds ≤ max a.epochSeconds b.epochSeconds) ∧
              (a.instant ≤ t.instant → t.instant ≤ b.instant →
                g.holds selection q x = .ok true) := by
  refine ⟨fun _ _ => Moment.epochSeconds_le, fun _ _ => Moment.epochSeconds_congr,
    fun _ _ => Moment.epochSeconds_sub, fun s low high a b hlow hhigh ha hb => ?_⟩
  refine ⟨_, compile_spanQuery s hlow hhigh ha hb, ?_, fun g selection x p t hp ht => ?_⟩
  · rw [compile_spanQuery s hhigh hlow hb ha, Range.between_comm]
  · have hmeasure : g.measure .timestamp p = .ok (some t.epochSeconds) := by
      unfold Graph.measure
      rw [ht]
      rfl
    have hholds := Graph.countHolds_between hmeasure a.epochSeconds b.epochSeconds
    rw [Graph.holds_of_get? hp, Graph.holdsAt]
    refine ⟨hholds, fun hfrom hto => hholds.mpr ⟨?_, ?_⟩⟩
    · exact (min_le_left _ _).trans (Moment.epochSeconds_le hfrom)
    · exact (Moment.epochSeconds_le hto).trans (le_max_right _ _)

/-- From the last half second of 1969, which counts as 0, to one in the morning of 1970, as a clock
    five hours behind shows it. -/
theorem seconds_follow_instants_1970 :
    let s : Setting := { now := 1735689600 }
    let a : Moment := ⟨62135596799500000, some 0⟩
    let b : Moment := ⟨62135600400000000, some 0⟩
    let t : Moment := ⟨62135582400000000, some (-18000000000)⟩
    let p : Primitive := { id := 1, timestamp := some t, shape := .node none none }
    let g : Graph := ⟨#[p]⟩
    a.epochSeconds ≤ t.epochSeconds ∧ t.epochSeconds = b.epochSeconds ∧
      (t.epochSeconds - Moment.earliest.epochSeconds) * microsPerSecond = 62135600400000000 ∧
      readInstant "1969-12-31T23:59:59.5" = .ok a ∧ readInstant "1970-01-01T01" = .ok b ∧
      ∃ q, (compile s (spanQuery "1970-01-01T01" "1969-12-31T23:59:59.5")).outcome = .ok q ∧
        g.holds none q 0 = .ok true := by
  intro s a b t p g
  obtain ⟨hle, hcongr, hsub, hspan⟩ := seconds_follow_instants
  have ha : readInstant "1969-12-31T23:59:59.5" = .ok a := by rfl
  have hb : readInstant "1970-01-01T01" = .ok b := by rfl
  have hdifference := hsub Moment.earliest t ⟨by decide, by decide⟩ ⟨by decide, by decide⟩
    (by decide) (by decide)
  obtain ⟨q, -, hq, hpasses⟩ := hspan s _ _ a b (by decide) (by decide) ha hb
  refine ⟨hle a t (by decide), hcongr t b (by decide), hdifference.trans (by decide), ha, hb, q, hq,
    (hpasses g none 0 p t rfl rfl).2 (by decide) (by decide)⟩

end MapQuery.Query
