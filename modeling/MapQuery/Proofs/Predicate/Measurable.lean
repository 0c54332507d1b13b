import MapQuery.Proofs.Map.Contents
import MapQuery.Proofs.Predicate.Chain
import MapQuery.Proofs.Predicate.Outcome
import MapQuery.Proofs.Query.Exceeding
import MapQuery.Proofs.Query.Invariants

/-!
# When a search has no faults

Two tests need more of an object than a map promises. The text of a time stamp is written for dates
on the calendar only, and an area is compared in whole square meters. One object that has a date
outside the calendar, or an area that is infinite or not a number, makes a search of the whole map
fail; where there is none, no search fails, whatever it is for and whatever is selected.

* `Graph.Measurable` -- the objects that have neither;
* `holdsAt_ok` -- among these alone every compiled predicate has a truth value, by induction on it;
* `holds_stamp`, `countHolds_area` -- on any other object a certain query has none;
* `loaded_measurable` -- both together, for the maps that are loaded.
-/

namespace MapQuery

open Query

/-- The time stamp of an object can be written, where texts are compared as they are, and its area
    can be counted. -/
structure Graph.Measurable (g : Graph) (o : TextOptions) (p : Primitive) : Prop where
  stamp : o.regex = false → ∀ t, p.timestamp = some t → OnCalendar t
  area : ∀ x, g.area? p = some x → ∃ negative size, Number.decode x = .finite negative size

/-! ## 1. Tests on one object -/

variable {g : Graph} {s : Setting} {h : Handle} {p : Primitive}

theorem stampText_of_onCalendar {t : Calendar.Moment} (ht : OnCalendar t) :
    ∃ text, t.stampText = .ok text := by
  have hu : t.toUniversal = .ok ⟨t.instant.toNat, some 0⟩ := if_pos ht
  unfold Calendar.Moment.stampText
  rw [hu]
  exact ⟨_, rfl⟩

theorem stampText_of_not_onCalendar {t : Calendar.Moment} (ht : ¬ OnCalendar t) :
    t.stampText = .error .outOfRange := by
  have hu : t.toUniversal = .error .outOfRange := if_neg ht
  unfold Calendar.Moment.stampText
  rw [hu]
  rfl

/-- Texts are compared as they are unless both operands are patterns. -/
theorem SubstringTest.Regular.regex_eq_false {o : TextOptions} {t : SubstringTest}
    (ht : t.Regular o)
    (hprobes : ∀ k v, t.keyProbe = .pattern k → t.valueProbe = .pattern v → False) :
    o.regex = false := by
  have hkey := ht.keyProbe
  have hvalue := ht.valueProbe
  cases hk : t.keyProbe with
  | needle =>
    rw [hk] at hkey
    exact hkey.1
  | pattern k =>
    cases hv : t.valueProbe with
    | needle =>
      rw [hv] at hvalue
      exact hvalue.1
    | pattern v => exact absurd hv (hprobes k v hk)

/-- **A substring test has a truth value** where the time stamp can be written, and as a pattern it
    always has one. -/
theorem SubstringTest.holds_ok {t : SubstringTest} (ht : t.Regular s.options)
    (hp : g.Measurable s.options p) : ∃ b, t.holds p = .ok b := by
  unfold SubstringTest.holds
  split
  · exact ⟨_, rfl⟩
  · next hprobes =>
    simp only
    split
    · split
      · exact ⟨_, rfl⟩
      · next moment hmoment =>
        have hregex : s.options.regex = false := ht.regex_eq_false hprobes
        obtain ⟨text, htext⟩ := stampText_of_onCalendar (hp.stamp hregex moment hmoment)
        rw [htext]
        exact ⟨_, rfl⟩
    · exact ⟨_, rfl⟩

namespace Graph

theorem wholeArea_of_finite {x : Float} {negative : Bool} {size : Number.Magnitude}
    (hx : Number.decode x = .finite negative size) : ∃ n, wholeArea x = .ok n := by
  unfold wholeArea Number.truncate
  rw [hx]
  exact ⟨_, rfl⟩

/-- **Every quantity but the area can be measured anywhere**, and the area where it is finite. -/
theorem countHolds_ok {o : TextOptions} (hp : g.Measurable o p) (d : Dimension) (r : Range) :
    ∃ b, g.countHolds d r p = .ok b := by
  unfold countHolds measure
  cases d with
  | tags | nodes | timestamp => exact ⟨_, rfl⟩
  | area =>
    dsimp only
    split
    · exact ⟨_, rfl⟩
    · next x hx =>
      obtain ⟨negative, size, hfinite⟩ := hp.area x hx
      obtain ⟨n, hn⟩ := wholeArea_of_finite hfinite
      rw [hn]
      exact ⟨_, rfl⟩

/-! ## 2. Maps of measurable objects -/

/-- A search through children or parents has no fault where the test has none on any object; what is
    no object of the map does not pass. -/
theorem anyOf_holds_ok {selection : Option (List Key)} {q : Predicate}
    (hq : ∀ h p, g.get? h = some p → ∃ b, g.holdsAt selection q h p = .ok b) (hs : List Handle) :
    ∃ b, Outcome.anyOf (g.holds selection q) hs = .ok b := by
  have htest : ∀ x ∈ hs, ∃ b, g.holds selection q x = .ok b := fun x _ => by
    cases hx : g.get? x with
    | none => exact ⟨false, by rw [holds, hx]⟩
    | some o =>
      rw [holds_of_get? hx]
      exact hq x o hx
  obtain ⟨b, hb, -⟩ := Outcome.anyOf_eq_ok htest
  exact ⟨b, hb⟩

/-- **Where all objects are measurable, no compiled predicate has a fault**, by induction on it. -/
theorem holdsAt_ok (hg : ∀ h p, g.get? h = some p → g.Measurable s.options p)
    (selection : Option (List Key)) (q : Predicate) (hq : ∀ r ∈ q.parts, r.Regular s) :
    ∀ h p, g.get? h = some p → ∃ b, g.holdsAt selection q h p = .ok b := by
  induction q with
  | not q ih =>
    obtain ⟨-, hin⟩ := Predicate.forall_parts_iff.mp hq
    intro h p hp
    obtain ⟨b, hb⟩ := ih (hin q (by simp [Predicate.operands])) h p hp
    exact ⟨!b, by rw [holdsAt_not, hb]; rfl⟩
  | both l r ihl ihr =>
    obtain ⟨-, hin⟩ := Predicate.forall_parts_iff.mp hq
    intro h p hp
    obtain ⟨a, ha⟩ := ihl (hin l (by simp [Predicate.operands])) h p hp
    obtain ⟨b, hb⟩ := ihr (hin r (by simp [Predicate.operands])) h p hp
    rw [holdsAt_both, ha, hb]
    cases a <;> exact ⟨_, rfl⟩
  | either l r ihl ihr =>
    obtain ⟨-, hin⟩ := Predicate.forall_parts_iff.mp hq
    intro h p hp
    obtain ⟨a, ha⟩ := ihl (hin l (by simp [Predicate.operands])) h p hp
    obtain ⟨b, hb⟩ := ihr (hin r (by simp [Predicate.operands])) h p hp
    rw [holdsAt_either, ha, hb]
    cases a <;> exact ⟨_, rfl⟩
  | hasChild q ih =>
    obtain ⟨-, hin⟩ := Predicate.forall_parts_iff.mp hq
    intro h p _
    rw [holdsAt_hasChild]
    exact anyOf_holds_ok (ih (hin q (by simp [Predicate.operands]))) p.children
  | hasParent q ih =>
    obtain ⟨-, hin⟩ := Predicate.forall_parts_iff.mp hq
    intro h p _
    rw [holdsAt_hasParent]
    exact anyOf_holds_ok (ih (hin q (by simp [Predicate.operands]))) p.referrers
  | substring t =>
    intro h p hp
    rw [holdsAt]
    exact SubstringTest.holds_ok (Predicate.forall_parts_iff.mp hq).1 (hg h p hp)
  | count d r =>
    intro h p hp
    rw [holdsAt]
    exact countHolds_ok (hg h p hp) d r
  | _ =>
    intro h p _
    rw [holdsAt]
    exact ⟨_, rfl⟩

end Graph

/-! ## 3. Objects that are not measurable -/

/-- The test that asks for the text of a time stamp. -/
def stampTest (o : TextOptions) : SubstringTest :=
  ⟨"timestamp", "", o, .needle (Text.fold "timestamp" o.caseSensitive),
    .needle (Text.fold "" o.caseSensitive)⟩

theorem operandTest_stamp (hregex : s.options.regex = false) :
    operandTest s "timestamp" "" = .ok (.substring (stampTest s.options)) := by
  have hprepare : ∀ text, Probe.prepare text s.options =
      .ok (.needle (Text.fold text s.options.caseSensitive)) := fun text => by
    rw [Probe.prepare, if_neg (by rw [hregex]; exact Bool.false_ne_true)]
  rw [operandTest_other s (by decide) (fun _ => by simp), substringTest, SubstringTest.build,
    hprepare, hprepare]
  rfl

/-- **A time stamp outside the calendar has no text.** -/
theorem holds_stamp {t : Calendar.Moment} (hp : p.timestamp = some t) (ht : ¬ OnCalendar t)
    (o : TextOptions) : (stampTest o).holds p = .error .dateOutOfRange := by
  have hfold : ∀ b, Text.fold "timestamp" b = "timestamp" := by decide +kernel
  unfold SubstringTest.holds stampTest
  simp only [Probe.needle?, Option.getD_some, hfold, if_true, hp, stampText_of_not_onCalendar ht]

theorem wholeArea_of_not_finite {x : Float}
    (hx : ∀ negative size, Number.decode x ≠ .finite negative size) :
    ∃ e, Graph.wholeArea x = .error e := by
  unfold Graph.wholeArea Number.truncate
  cases hd : Number.decode x with
  | finite negative size => exact absurd hd (hx negative size)
  | infinite => exact ⟨.areaInfinite, rfl⟩
  | nan => exact ⟨.areaNotANumber, rfl⟩

/-- **An area that is not finite cannot be counted.** -/
theorem countHolds_area {x : Float} (hp : g.area? p = some x)
    (hx : ∀ negative size, Number.decode x ≠ .finite negative size) (r : Range) :
    ∃ e, g.countHolds .area r p = .error e := by
  obtain ⟨e, he⟩ := wholeArea_of_not_finite hx
  unfold Graph.countHolds Graph.measure
  rw [hp]
  dsimp only
  rw [he]
  exact ⟨e, rfl⟩

/-- **On an object that is not measurable some query has a fault.** -/
theorem exists_fault (hp : g.get? h = some p) (hm : ¬ g.Measurable s.options p) :
    ∃ query q, (compile s query).outcome = .ok q ∧
      ∀ selection, ∃ e, g.holds selection q h = .error e := by
  by_cases harea : ∀ x, g.area? p = some x →
      ∃ negative size, Number.decode x = .finite negative size
  · have hstamp : ¬ (s.options.regex = false → ∀ t, p.timestamp = some t → OnCalendar t) :=
      fun hstamp => hm ⟨hstamp, harea⟩
    obtain ⟨hregex, t, ht, hout⟩ : s.options.regex = false ∧
        ∃ t, p.timestamp = some t ∧ ¬ OnCalendar t := by simpa using hstamp
    obtain ⟨-, hquery⟩ := compile_operand s (isBareKey_keyword "timestamp" (by decide)) ""
    refine ⟨_, _, hquery.trans (operandTest_stamp hregex), fun selection => ?_⟩
    rw [Graph.holds_of_get? hp, Graph.holdsAt]
    exact ⟨_, holds_stamp ht hout s.options⟩
  · obtain ⟨x, hx, hinfinite⟩ : ∃ x, g.area? p = some x ∧
        ∀ negative size, Number.decode x ≠ .finite negative size := by simpa using harea
    obtain ⟨-, hquery⟩ := compile_operand s (isBareKey_keyword "areasize" (by decide)) "0"
    have htest : operandTest s "areasize" "0" = .ok (.count .area ⟨0, 0, Int.le_refl 0⟩) := rfl
    refine ⟨_, _, hquery.trans htest, fun selection => ?_⟩
    rw [Graph.holds_of_get? hp, Graph.holdsAt]
    exact countHolds_area hx hinfinite _

/-! ## 4. Maps that are loaded -/

namespace Document

/-- **When no search of a map fails.** With the given options, whatever is searched for and
    selected, every object of a map that was loaded passes a query or does not -- just if all of
    them are measurable. -/
theorem loaded_measurable {j : Json} {c : Content} (hj : (load j).outcome = .ok c) (s : Setting) :
    (∀ query q, (compile s query).outcome = .ok q →
      ∀ selection, ∀ h ∈ c.dataset.handles, ∃ b, c.graph.holds selection q h = .ok b) ↔
    ∀ h ∈ c.dataset.handles, ∀ p, c.graph.get? h = some p → c.graph.Measurable s.options p := by
  obtain ⟨_, _, es, _, _, _, _, _, hc, _⟩ := pictures_of_load hj
  constructor
  · intro hall h hh p hp
    by_cases hm : c.graph.Measurable s.options p
    · exact hm
    · obtain ⟨query, q, hquery, hfault⟩ := exists_fault hp hm
      obtain ⟨e, he⟩ := hfault none
      obtain ⟨b, hb⟩ := hall query q hquery none h hh
      rw [he] at hb
      cases hb
  · intro hg query q hquery selection h hh
    have hobjects : ∀ h p, c.graph.get? h = some p → c.graph.Measurable s.options p :=
      fun h p hp => hg h (hc.mem_handles_iff.mpr ⟨p, hp⟩) p hp
    obtain ⟨p, hp⟩ := hc.mem_handles_iff.mp hh
    rw [Graph.holds_of_get? hp]
    exact Graph.holdsAt_ok hobjects selection q (regular_of_compileFrom hquery) h p hp

/-- A map that is loaded and cannot be searched: its one node was edited an hour before the year 1
    began. -/
theorem loaded_measurable_first_hour :
    let j : Json := .obj [("elements", .arr [.obj [("type", .str "node"), ("id", .int 9),
      ("timestamp", .str "0001-01-01T00:00:00+01:00")]])]
    ∃ c, (load j).outcome = .ok c ∧
      ¬ ∀ query q, (compile { now := 0 } query).outcome = .ok q →
        ∀ selection, ∀ h ∈ c.dataset.handles, ∃ b, c.graph.holds selection q h = .ok b := by
  intro j
  obtain ⟨c, hj, hhandles, p, hp, htime⟩ : ∃ c, (load j).outcome = .ok c ∧
      c.dataset.handles = [0] ∧ ∃ p, c.graph.get? 0 = some p ∧
        p.timestamp = some ⟨0, some 3600000000⟩ := ⟨_, rfl, rfl, _, rfl, rfl⟩
  refine ⟨c, hj, fun hall => ?_⟩
  have hmeasurable := (loaded_measurable hj { now := 0 }).mp hall 0 (hhandles ▸ by simp) p hp
  exact absurd (hmeasurable.stamp rfl _ htime) (by decide)

end Document

end MapQuery
