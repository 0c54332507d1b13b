import MapQuery.Proofs.Predicate.Kin

/-!
# Data sets built up object by object

An object that is added stands under its key from then on, and its children know that it refers to
them. If another object stood under the key, the data set does not hold that one any longer; its
children are not told.

* `DataSet.get?_add`, `DataSet.graph_add` -- what one addition does;
* `DataSet.get?_addAll`, `DataSet.graph_addAll` -- what additions to a new data set come to;
* `Graph.Knows` -- each object knows the objects of a list that refer to it, and no others;
* `DataSet.addAll_knows` -- who is known after any additions, and what queries see of it.
-/

namespace MapQuery

namespace Graph

variable {g : Graph} {r : Handle} {hs : List Handle}

/-- Registering an object once more changes nothing. -/
theorem register_referred_of_mem (hr : r ∈ hs) : (g.referred hs).register r = g.referred hs := by
  refine ext_get? fun i => ?_
  rw [get?_register, get?_referred, childrenAt_referred, Option.map_map]
  congr 1
  funext p
  by_cases hi : i ∈ g.childrenAt r
  · have hknown : (hs.filter fun r => (g.childrenAt r).contains i).contains r = true := by
      rw [List.contains_iff_mem, List.mem_filter]
      exact ⟨hr, List.contains_iff_mem.mpr hi⟩
    rw [Function.comp_apply, if_pos hi]
    exact if_pos hknown
  · rw [Function.comp_apply, if_neg hi]

theorem keyAt_referred (g : Graph) (hs : List Handle) (i : Handle) :
    (g.referred hs).keyAt i = g.keyAt i := by
  unfold keyAt
  rw [get?_referred, Option.map_map]
  rfl

theorem refers_referred {c : Handle} : (g.referred hs).Refers r c ↔ g.Refers r c := by
  rw [← mem_childrenAt, ← mem_childrenAt, childrenAt_referred]

/-- Each object knows the objects of a list that refer to it, each of them once, and no others. -/
def Knows (g : Graph) (hs : List Handle) : Prop :=
  ∀ c p, g.get? c = some p →
    p.referrers.Nodup ∧ ∀ r, r ∈ p.referrers ↔ r ∈ hs ∧ g.Refers r c

theorem knows_referred (g : Graph) (hs : List Handle) : (g.referred hs.eraseDups).Knows hs := by
  intro c p hp
  rw [get?_referred, Option.map_eq_some_iff] at hp
  obtain ⟨o, -, rfl⟩ := hp
  refine ⟨(nodup_eraseDups hs).filter _, fun r => ?_⟩
  rw [refers_referred, List.mem_filter, List.mem_eraseDups, List.contains_iff_mem, mem_childrenAt]

end Graph

namespace DataSet

variable {g : Graph} {d : DataSet} {h : Handle} {hs : List Handle}

/-! ## 1. One addition -/

/-- **What stands under a key after an addition**: the object added, if it has the key. -/
theorem get?_add (k : Key) :
    (d.add g h).1.get? k = if g.keyAt h = some k then some h else d.get? k := by
  unfold add Graph.keyAt
  cases hp : g.get? h with
  | none => rfl
  | some p =>
    rw [Option.map_some]
    by_cases hk : p.key = k
    · subst hk
      rw [if_pos rfl]
      exact findEntry_putEntry_self p.key h d.entries
    · rw [if_neg fun e => hk (Option.some.inj e)]
      exact findEntry_putEntry_of_ne h (fun e => hk e.symm) d.entries

theorem graph_add : (d.add g h).2 = g.register h := by
  unfold add Graph.register
  cases g.get? h <;> rfl

/-! ## 2. Additions to a new data set -/

theorem addAll_append_singleton (d : DataSet) (g : Graph) (hs : List Handle) (h : Handle) :
    d.addAll g (hs ++ [h]) = (d.addAll g hs).1.add (d.addAll g hs).2 h := by
  unfold addAll
  rw [List.foldl_append]
  rfl

/-- **All objects that were added are known to their children**, in the order in which they were
    first added, and nothing else changes. -/
theorem graph_addAll (hg : ∀ i p, g.get? i = some p → p.referrers = []) (d : DataSet)
    (hs : List Handle) : (d.addAll g hs).2 = g.referred hs.eraseDups := by
  induction hs using List.reverseRecOn with
  | nil => exact (Graph.referred_nil hg).symm
  | append_singleton hs h ih =>
    rw [addAll_append_singleton, graph_add, ih, eraseDups_append_singleton]
    by_cases hm : h ∈ hs
    · rw [if_pos hm, Graph.register_referred_of_mem (List.mem_eraseDups.mpr hm)]
    · rw [if_neg hm, Graph.register_referred fun hm' => hm (List.mem_eraseDups.mp hm')]

/-- **Under a key stands the object that was added last** of those that have it. -/
theorem get?_addAll (hg : ∀ i p, g.get? i = some p → p.referrers = []) (hd : d.entries = [])
    (hs : List Handle) (k : Key) :
    (d.addAll g hs).1.get? k = hs.reverse.find? fun h => g.keyAt h == some k := by
  induction hs using List.reverseRecOn with
  | nil =>
    show findEntry d.entries k = none
    rw [hd]
    rfl
  | append_singleton hs h ih =>
    rw [addAll_append_singleton, get?_add, graph_addAll hg, Graph.keyAt_referred, ih,
      List.reverse_append, List.reverse_singleton, List.singleton_append, List.find?_cons]
    by_cases hk : g.keyAt h = some k
    · rw [if_pos hk, hk, beq_self_eq_true]
    · rw [if_neg hk, beq_eq_false_iff_ne.mpr hk]

/-- A data set holds an object if the object stands under its own key. -/
def Holds (d : DataSet) (g : Graph) (h : Handle) : Prop :=
  ∃ k, g.keyAt h = some k ∧ d.get? k = some h

/-- No two of the objects have the same key. -/
def Apart (g : Graph) (hs : List Handle) : Prop :=
  ∀ r ∈ hs, ∀ s ∈ hs, ∀ k, g.keyAt r = some k → g.keyAt s = some k → r = s

/-- What stands under keys has been added. -/
theorem mem_of_holds (hfind : ∀ k, d.get? k = hs.reverse.find? fun h => g.keyAt h == some k)
    (hh : d.Holds g h) : h ∈ hs := by
  obtain ⟨k, -, hk⟩ := hh
  rw [hfind] at hk
  exact List.mem_reverse.mp (List.mem_of_find?_eq_some hk)

/-- Where no object took over the key of another one, all that were added are held. -/
theorem holds_of_mem (hfind : ∀ k, d.get? k = hs.reverse.find? fun h => g.keyAt h == some k)
    (hapart : Apart g hs) (hh : h ∈ hs) {k : Key} (hk : g.keyAt h = some k) : d.Holds g h := by
  refine ⟨k, hk, ?_⟩
  rw [hfind]
  cases hr : hs.reverse.find? fun h => g.keyAt h == some k with
  | none =>
    have hno := List.find?_eq_none.mp hr h (List.mem_reverse.mpr hh)
    exact absurd (beq_iff_eq.mpr hk) hno
  | some r =>
    have hr' : g.keyAt r = some k := beq_iff_eq.mp (List.find?_some hr :)
    have hmem : r ∈ hs := List.mem_reverse.mp (List.mem_of_find?_eq_some hr)
    rw [hapart r hmem h hh k hr' hk]

end DataSet

namespace Graph

variable {g : Graph} {hs : List Handle} {c : Handle} {p : Primitive}

/-! ## 3. Queries for those that refer to an object -/

/-- A query for parents sees the objects that are known, and finds out whether one of them passes,
    where it has no fault on them. -/
theorem Knows.hasParent_iff (hg : g.Knows hs) (hp : g.get? c = some p)
    {selection : Option (List Key)} {q : Predicate}
    (hq : ∀ r ∈ hs, g.Refers r c → ∃ b, g.holds selection q r = .ok b) :
    ∃ b, g.holds selection (.hasParent q) c = .ok b ∧
      (b = true ↔ ∃ r ∈ hs, g.Refers r c ∧ g.holds selection q r = .ok true) := by
  obtain ⟨-, hknown⟩ := hg c p hp
  rw [holds_of_get? hp, holdsAt_hasParent]
  obtain ⟨b, hb, hiff⟩ := Outcome.anyOf_eq_ok (l := p.referrers) fun r hr =>
    have hadded := (hknown r).mp hr
    hq r hadded.1 hadded.2
  refine ⟨b, hb, hiff.trans (exists_congr fun r => ?_)⟩
  rw [hknown, and_assoc]

/-- A query for a role sees the relations that are known. -/
theorem Knows.role_iff (hg : g.Knows hs) (hp : g.get? c = some p)
    (selection : Option (List Key)) (name : String) :
    ∃ b, g.holds selection (.role name) c = .ok b ∧
      (b = true ↔ ∃ r ∈ hs, ∃ q, g.get? r = some q ∧ q.kind = .relation ∧ q.isUsable = true ∧
        ∃ m ∈ q.members, m.target = c ∧ roleIs m.role name = true) := by
  obtain ⟨-, hknown⟩ := hg c p hp
  refine ⟨g.hasRole c p name, by rw [holds_of_get? hp, holdsAt], ?_⟩
  rw [hasRole_iff_referrers]
  refine exists_congr fun r => ?_
  constructor
  · exact And.imp_left fun hr => ((hknown r).mp hr).1
  · rintro ⟨hr, q, hq, hkind, husable, m, hm, htarget, hrole⟩
    have hrefers : g.Refers r c := ⟨q, hq, htarget ▸ target_mem_children hm⟩
    exact ⟨(hknown r).mpr ⟨hr, hrefers⟩, q, hq, hkind, husable, m, hm, htarget, hrole⟩

end Graph

/-! ## 4. Any additions -/

/-- **What is known after any additions.** Objects are added to a new data set in some order, an
    object maybe several times, and some under a key that another one had. Afterwards each object
    knows the objects that were added and have it among their nodes or members, each of them once,
    and in the order in which they were first added; nothing else about the objects has changed.
    Under each key stands the object that was added last of those that have the key. So if no object
    took over the key of another one, an object knows just the ones that the data set holds and that
    have it among their nodes or members. Queries for parents and roles see the objects that were
    added. -/
theorem DataSet.addAll_knows {g : Graph} (hg : ∀ i p, g.get? i = some p → p.referrers = [])
    {d : DataSet} (hd : d.entries = []) (hs : List Handle) {d' : DataSet} {g' : Graph}
    (hadd : d.addAll g hs = (d', g')) :
    g'.Knows hs ∧
    (∀ c, g'.get? c = (g.get? c).map fun p =>
      { p with referrers := hs.eraseDups.filter fun r => (g.childrenAt r).contains c }) ∧
    (∀ k, d'.get? k = hs.reverse.find? fun h => g'.keyAt h == some k) ∧
    (Apart g' hs → ∀ c p, g'.get? c = some p →
      ∀ r, r ∈ p.referrers ↔ d'.Holds g' r ∧ g'.Refers r c) ∧
    (∀ selection q c p, g'.get? c = some p →
      (∀ r ∈ hs, g'.Refers r c → ∃ b, g'.holds selection q r = .ok b) →
      ∃ b, g'.holds selection (.hasParent q) c = .ok b ∧
        (b = true ↔ ∃ r ∈ hs, g'.Refers r c ∧ g'.holds selection q r = .ok true)) ∧
    (∀ selection name c p, g'.get? c = some p →
      ∃ b, g'.holds selection (.role name) c = .ok b ∧
        (b = true ↔ ∃ r ∈ hs, ∃ q, g'.get? r = some q ∧ q.kind = .relation ∧ q.isUsable = true ∧
          ∃ m ∈ q.members, m.target = c ∧ roleIs m.role name = true)) := by
  have hgraph : g' = g.referred hs.eraseDups := by rw [← graph_addAll hg d hs, hadd]
  have hknows : g'.Knows hs := hgraph ▸ Graph.knows_referred g hs
  have hfind : ∀ k, d'.get? k = hs.reverse.find? fun h => g'.keyAt h == some k := fun k => by
    have h := get?_addAll hg hd hs k
    rw [hadd] at h
    simp only [hgraph, Graph.keyAt_referred]
    exact h
  refine ⟨hknows, fun c => hgraph ▸ Graph.get?_referred g hs.eraseDups c, hfind, ?_,
    fun selection q c p hp hq => hknows.hasParent_iff hp hq,
    fun selection name c p hp => hknows.role_iff hp selection name⟩
  intro hapart c p hp r
  rw [(hknows c p hp).2]
  constructor
  · rintro ⟨hr, q, hq, hc⟩
    exact ⟨holds_of_mem hfind hapart hr (Graph.keyAt_eq_some_iff.mpr ⟨q, hq, rfl⟩), q, hq, hc⟩
  · exact fun ⟨hr, hrefers⟩ => ⟨mem_of_holds hfind hr, hrefers⟩

namespace DataSet

/-- A node, a way on it, and another way of the same number that holds nothing. -/
def rivals : Graph :=
  ⟨#[{ id := 1, shape := .node none none }, { id := 2, shape := .way [0] },
    { id := 2, shape := .way [] }]⟩

theorem rivals_referrers : ∀ i p, rivals.get? i = some p → p.referrers = [] := by
  intro i p hp
  have hall : ∀ q ∈ rivals.objects.toList, q.referrers = [] := by decide
  exact hall p (Array.mem_toList_iff.mpr (Array.mem_of_getElem? hp))

/-- The first way added twice, and the node between: the node knows the way, and nothing else. -/
theorem addAll_knows_twice :
    let added := ({} : DataSet).addAll rivals [1, 0, 1]
    (∀ i p, rivals.get? i = some p → p.referrers = []) ∧ Apart added.2 [1, 0, 1] ∧
    ∃ p, added.2.get? 0 = some p ∧ p.referrers = [1] ∧
      ∀ r, r ∈ p.referrers ↔ added.1.Holds added.2 r ∧ added.2.Refers r 0 := by
  intro added
  have hadd : ({} : DataSet).addAll rivals [1, 0, 1] = (added.1, added.2) := rfl
  obtain ⟨-, -, -, hheld, -⟩ := addAll_knows rivals_referrers rfl [1, 0, 1] hadd
  have hway : added.2.keyAt 1 = some ⟨.way, 2⟩ := rfl
  have hnode : added.2.keyAt 0 = some ⟨.node, 1⟩ := rfl
  have hapart : Apart added.2 [1, 0, 1] := by
    have hplace : ∀ h ∈ ([1, 0, 1] : List Handle), h = 0 ∨ h = 1 := by decide
    intro r hr s hs k hk hk'
    rcases hplace r hr with rfl | rfl <;> rcases hplace s hs with rfl | rfl
    · rfl
    · cases hnode.symm.trans hk
      cases hway.symm.trans hk'
    · cases hway.symm.trans hk
      cases hnode.symm.trans hk'
    · rfl
  exact ⟨rivals_referrers, hapart, _, rfl, rfl, hheld hapart 0 _ rfl⟩

/-- **An object that was replaced is still known to its children**: after the second way took over
    the key of the first one, the node knows the first one, which the data set does not hold. -/
theorem addAll_knows_replaced :
    ¬ ∀ g : Graph, (∀ i p, g.get? i = some p → p.referrers = []) → ∀ hs d' g',
      ({} : DataSet).addAll g hs = (d', g') → ∀ c p, g'.get? c = some p →
        ∀ r, r ∈ p.referrers ↔ d'.Holds g' r ∧ g'.Refers r c := by
  intro h
  obtain ⟨⟨k, hk, hheld⟩, -⟩ :=
    (h rivals rivals_referrers [0, 1, 2] _ _ rfl 0 _ rfl 1).mp (List.mem_singleton.mpr rfl)
  cases hk
  cases hheld

end DataSet

end MapQuery
